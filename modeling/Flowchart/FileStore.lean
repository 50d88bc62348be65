/-
  Files, directories and links.

  A store holds entries by their parts from the root, and knows the working directory, from which
  relative paths are followed.  A path is followed part by part: each part but the last has to lead to
  a directory, two dots lead back, and a link leads on to its target, so two paths may well lead to one
  place.  A file with two names is a file and a link to it.

  A file may have a guard.  One that is shut cannot be opened, be it for want of permission or for any
  other reason.  One with a limit takes only so many bytes: the device is full, or the file may not grow
  further.  A write opens its file first, which empties it, and then writes; so a write that is refused
  changes nothing, while one that breaks off leaves the file with the beginning of what was to be written.

  An operation that cannot be done says why, naming the path as it was given; only a write that breaks
  off names none.  Not told of are permissions to search or list a directory, changes by others while an
  operation is going on, and reads that break off.
-/
import Flowchart.Path
import Flowchart.Text.Quoted
import Flowchart.Text.Utf8

namespace Flowchart

/-- Why an operation on files failed. -/
inductive FileFault where
  | notFound
  | denied
  | notDirectory
  | isDirectory
  | nameTooLong
  | tooManyLinks
  /-- Any other fault, by its number and its words. -/
  | other (code : Nat) (words : String)
deriving Repr, DecidableEq

namespace FileFault

/-- The number of the fault. -/
def code : FileFault → Nat
  | .notFound => 2
  | .denied => 13
  | .notDirectory => 20
  | .isDirectory => 21
  | .nameTooLong => 36
  | .tooManyLinks => 40
  | .other code _ => code

/-- The words for the fault. -/
def words : FileFault → String
  | .notFound => "No such file or directory"
  | .denied => "Permission denied"
  | .notDirectory => "Not a directory"
  | .isDirectory => "Is a directory"
  | .nameTooLong => "File name too long"
  | .tooManyLinks => "Too many levels of symbolic links"
  | .other _ words => words

/-- The name of the kind of fault. -/
def kind : FileFault → String
  | .notFound => "FileNotFoundError"
  | .denied => "PermissionError"
  | .notDirectory => "NotADirectoryError"
  | .isDirectory => "IsADirectoryError"
  | .nameTooLong => "OSError"
  | .tooManyLinks => "OSError"
  | .other _ _ => "OSError"

end FileFault

/-- A failed operation on a path. -/
inductive FileError where
  /-- The operation was refused; the path is named as it was given. -/
  | fault (fault : FileFault) (path : String)
  /-- The operation broke off. -/
  | brokeOff (fault : FileFault)
  /-- The path holds a character that no path can hold. -/
  | nullByte
deriving Repr, DecidableEq

/-- The words for a failed operation. -/
def FileError.message : FileError → String
  | .fault f path => s!"[Errno {f.code}] {f.words}: " ++ Text.quoted path
  | .brokeOff f => s!"[Errno {f.code}] {f.words}"
  | .nullByte => "embedded null byte"

/-- The name of the kind of failure. -/
def FileError.kind : FileError → String
  | .fault f _ => f.kind
  | .brokeOff f => f.kind
  | .nullByte => "ValueError"

/-- What is stored under a name. -/
inductive FileEntry where
  | file (bytes : List UInt8)
  | directory
  /-- A link to a path, which is followed from the directory of the link. -/
  | link (target : Path)
deriving Repr, DecidableEq

/-- What keeps a file from being opened or written. -/
inductive FileGuard where
  /-- The file cannot be opened. -/
  | shut (fault : FileFault)
  /-- The file takes so many bytes. -/
  | limit (room : Nat) (fault : FileFault)
deriving Repr, DecidableEq

/-- The entries by their parts from the root, the parts of the working directory, and the guards of
    files by their parts, be they there yet or not. -/
structure FileStore where
  home : List String := []
  entries : List (List String × FileEntry) := []
  guards : List (List String × FileGuard) := []
deriving Repr

namespace FileStore

/-! ## Following a path -/

/-- What is at a place; the root is always a directory. -/
def at? (s : FileStore) : List String → Option FileEntry
  | [] => some .directory
  | parts => s.entries.lookup parts

/-- The place that a part leads to from a directory. -/
def step (dir : List String) (part : String) : List String :=
  if part == ".." then dir.dropLast else dir ++ [part]

/-- The most bytes that a name can have. -/
def nameLimit : Nat := 255

/-- The bytes that a whole path has to stay below. -/
def pathLimit : Nat := 4096

/-- The links that may be met on one way. -/
def linkLimit : Nat := 40

/-- The place at which the target of a link in the directory `dir` starts. -/
def linkStart (dir : List String) (target : Path) : List String :=
  if target.root.isEmpty then dir else []

/-- Follows the parts from a place; each one but the last has to lead to a directory.  From a link the
    way goes on with `jump`, to which the start and the parts are given. -/
def walk (s : FileStore) (jump : List String → List String → Except FileFault (List String))
    (place : List String) : List String → Except FileFault (List String)
  | [] => .ok place
  | part :: rest =>
    match s.at? place with
    | some .directory =>
      if Text.Utf8.size part.toList > nameLimit then .error .nameTooLong
      else match s.at? (step place part) with
        | some (.link target) => jump (linkStart place target) (target.parts ++ rest)
        | _ => s.walk jump (step place part) rest
    | some _ => .error .notDirectory
    | none => .error .notFound

/-- Follows the parts from a place, over at most so many links. -/
def followWithin (s : FileStore) : Nat → List String → List String → Except FileFault (List String)
  | 0 => s.walk fun _ _ => .error .tooManyLinks
  | links + 1 => s.walk (s.followWithin links)

/-- Follows the parts from a place. -/
def follow (s : FileStore) (place parts : List String) : Except FileFault (List String) :=
  s.followWithin linkLimit place parts

/-- The place of a path. -/
def place (s : FileStore) (p : Path) : Except FileError (List String) :=
  if p.hasNull then .error .nullByte
  else if Text.Utf8.size p.text.toList ≥ pathLimit then .error (.fault .nameTooLong p.text)
  else match s.follow (if p.root.isEmpty then s.home else []) p.parts with
    | .ok place => .ok place
    | .error f => .error (.fault f p.text)

/-! ## Looking -/

/-- What the path leads to, if there is something.  A path that leads nowhere leads to nothing, but a
    name that is too long cannot even be looked for. -/
def look (s : FileStore) (p : Path) : Except FileError (Option FileEntry) :=
  match s.place p with
  | .error (.fault .nameTooLong path) => .error (.fault .nameTooLong path)
  | .error _ => .ok none
  | .ok place => .ok (s.at? place)

/-- There is something under the path. -/
def holds (s : FileStore) (p : Path) : Except FileError Bool := (s.look p).map (·.isSome)

/-- There is a directory under the path. -/
def isDirectory (s : FileStore) (p : Path) : Except FileError Bool :=
  (s.look p).map (· == some .directory)

/-- What guards the file at a place. -/
def guard? (s : FileStore) (place : List String) : Option FileGuard := s.guards.lookup place

/-- The bytes of a file. -/
def read (s : FileStore) (p : Path) : Except FileError (List UInt8) := do
  let place ← s.place p
  match s.at? place, s.guard? place with
  | some .directory, _ => .error (.fault .isDirectory p.text)
  | some (.file _), some (.shut f) => .error (.fault f p.text)
  | some (.file bytes), _ => return bytes
  | _, _ => .error (.fault .notFound p.text)

/-- The name of an entry that lies right in the directory with the parts `dir`. -/
def nameIn? (dir : List String) (parts : List String) : Option String :=
  if parts.dropLast == dir then parts.getLast? else none

/-- The names in a directory, in order. -/
def names (s : FileStore) (p : Path) : Except FileError (List String) := do
  let dir ← s.place p
  match s.at? dir with
  | some .directory => return (s.entries.filterMap fun e => nameIn? dir e.1).mergeSort (· ≤ ·)
  | some _ => .error (.fault .notDirectory p.text)
  | none => .error (.fault .notFound p.text)

/-! ## Changing -/

/-- The entries with one of them set. -/
def setIn (parts : List String) (entry : FileEntry) :
    List (List String × FileEntry) → List (List String × FileEntry)
  | [] => [(parts, entry)]
  | e :: rest => if e.1 == parts then (parts, entry) :: rest else e :: setIn parts entry rest

/-- The store with an entry set. -/
def setEntry (s : FileStore) (parts : List String) (entry : FileEntry) : FileStore :=
  { s with entries := setIn parts entry s.entries }

/-- Looking up after one entry was set: that place holds it, and all others what they held. -/
theorem lookup_setIn (parts p : List String) (entry : FileEntry)
    (entries : List (List String × FileEntry)) :
    (setIn parts entry entries).lookup p = if p = parts then some entry else entries.lookup p := by
  induction entries with
  | nil =>
    by_cases h : p = parts
    · simp [setIn, h]
    · have hp : (p == parts) = false := by simp [h]
      simp [setIn, List.lookup_cons, h, hp]
  | cons e rest ih =>
    obtain ⟨q, held⟩ := e
    by_cases hq : q = parts
    · subst hq
      by_cases h : p = q
      · simp [setIn, h]
      · have hp : (p == q) = false := by simp [h]
        simp [setIn, List.lookup_cons, h, hp]
    · by_cases h : p = q
      · subst h
        simp [setIn, hq]
      · have hp : (p == q) = false := by simp [h]
        simp [setIn, List.lookup_cons, hq, hp, ih]

/-- A place other than the root holds what was set there, and all others what they held. -/
theorem at?_setEntry (s : FileStore) (parts p : List String) (entry : FileEntry) (h : parts ≠ []) :
    (s.setEntry parts entry).at? p = if p = parts then some entry else s.at? p := by
  cases p with
  | nil => simp [at?, Ne.symm h]
  | cons first rest => exact lookup_setIn parts (first :: rest) entry s.entries

/-- How the opened file at a place takes the bytes: as far as its guard lets it. -/
def fill (s : FileStore) (place : List String) (bytes : List UInt8) : Except FileError Unit × FileStore :=
  match s.guard? place with
  | some (.limit room f) =>
    if bytes.length ≤ room then (.ok (), s.setEntry place (.file bytes))
    else (.error (.brokeOff f), s.setEntry place (.file (bytes.take room)))
  | _ => (.ok (), s.setEntry place (.file bytes))

/-- Writes a file, whose directory has to be there, and gives the files as they are afterwards, also if the
    write failed. -/
def write (s : FileStore) (p : Path) (bytes : List UInt8) : Except FileError Unit × FileStore :=
  match s.place p with
  | .error e => (.error e, s)
  | .ok place =>
    match s.at? place, s.guard? place with
    | some .directory, _ => (.error (.fault .isDirectory p.text), s)
    -- links are followed, so one is met here only where the working directory itself is a link
    | some (.link _), _ => (.error (.fault .tooManyLinks p.text), s)
    | _, some (.shut f) => (.error (.fault f p.text), s)
    | _, _ => s.fill place bytes

/-- The places on the way to a place, and the place itself. -/
def ways : List String → List (List String)
  | [] => []
  | part :: rest => [part] :: (ways rest).map (part :: ·)

/-- Makes a directory and those on the way to it, where nothing is yet. -/
def makeDirectory (s : FileStore) (parts : List String) : FileStore :=
  (ways parts).foldl (fun s way => if (s.at? way).isSome then s else s.setEntry way .directory) s

/-- An empty store with a working directory. -/
def atHome (home : List String) : FileStore := makeDirectory ⟨home, [], []⟩ home

/-- The parts of a path from the root, two dots taken as they stand. -/
def absolute (s : FileStore) (p : Path) : List String :=
  if p.root.isEmpty then s.home ++ p.parts else p.parts

/-- Makes the directory of a path and those on the way to it. -/
def putDirectory (s : FileStore) (p : Path) : FileStore := s.makeDirectory (s.absolute p)

/-- Puts a file in place, making the directories on the way to it. -/
def put (s : FileStore) (p : Path) (bytes : List UInt8) : FileStore :=
  (s.makeDirectory (s.absolute p).dropLast).setEntry (s.absolute p) (.file bytes)

/-- The name of a place as seen from the working directory. -/
def shown (s : FileStore) (parts : List String) : String :=
  if s.home.isPrefixOf parts then "/".intercalate (parts.drop s.home.length)
  else "/" ++ "/".intercalate parts

/-- The files that are not the same in `before`. -/
def changedSince (s before : FileStore) : List (String × List UInt8) :=
  s.entries.filterMap fun e =>
    match e.2 with
    | .file bytes => if before.at? e.1 == some (.file bytes) then none else some (s.shown e.1, bytes)
    | _ => none

end FileStore

end Flowchart
