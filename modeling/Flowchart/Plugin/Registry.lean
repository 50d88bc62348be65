/-
  The registry of language plugins.

  It knows plugins by their language and languages by file extension; the later registration wins.
  It also keeps every configuration that was loaded, by the path of its file, and never loads one
  twice.  Directories of plugins are gone through in the order of their names.  One whose configuration
  is no text, no YAML or lacks a field is passed over; a value that is mistaken for a map ends the search.

  How a text is read as YAML, and which plugin a configuration makes, is given from outside.
-/
import Flowchart.Plugin.Lua
import Flowchart.Text.Case

namespace Flowchart

/-- The plugins, the languages of the extensions, and the configurations loaded so far. -/
structure Registry where
  plugins : Assoc Plugin := []
  extensions : Assoc String := []
  configs : Assoc Value := []

namespace Registry

/-- The logger of the registry. -/
def logger : String := "plugins.manager"

/-! ## Plugins -/

/-- An extension in its one spelling. -/
def extensionOf (v : Value) : Except Mistake String :=
  match v with
  | .text s => .ok (Text.lower s)
  | v => .error (.noAttribute v.typeName "lower")

/-- Gives the extensions to a language one by one; those before a bad one stay given. -/
def claim (language : String) : List Value → Action Registry Mistake Unit
  | [] => return ()
  | v :: rest => do
    let ext ← Action.ofExcept (extensionOf v)
    match (← Action.state).extensions.find? ext with
    | some owner =>
      Action.note .warning logger
        s!"Extension '{ext}' already mapped to '{owner}', overwriting with '{language}'"
    | none => pure ()
    Action.change fun r => { r with extensions := r.extensions.set ext language }
    claim language rest

/-- Registers a plugin; it is known by its language even if its extensions are bad. -/
def register (p : Plugin) : Action Registry Mistake Unit := do
  if (← Action.state).plugins.contains p.language then
    Action.note .warning logger s!"Plugin for language '{p.language}' already registered, overwriting"
  Action.change fun r => { r with plugins := r.plugins.set p.language p }
  let items ← Action.ofExcept p.extensionItems
  claim p.language items
  Action.note .info logger
    s!"Registered plugin for language '{p.language}' with extensions: {p.extensionText}"

/-- Takes the extensions from a language one by one, where they are its own. -/
def release (language : String) : List Value → Action Registry Mistake Unit
  | [] => return ()
  | v :: rest => do
    let ext ← Action.ofExcept (extensionOf v)
    if (← Action.state).extensions.find? ext == some language then
      Action.change fun r => { r with extensions := r.extensions.drop ext }
    release language rest

/-- Takes a plugin out, and tells whether it was there. -/
def unregister (language : String) : Action Registry Mistake Bool := do
  match (← Action.state).plugins.find? language with
  | none => return false
  | some p =>
    let items ← Action.ofExcept p.extensionItems
    release language items
    Action.change fun r => { r with plugins := r.plugins.drop language }
    Action.note .info logger s!"Unregistered plugin for language '{language}'"
    return true

/-- The plugin of a language. -/
def plugin? (r : Registry) (language : String) : Option Plugin := r.plugins.find? language

/-- The extension by which a file is looked up. -/
def fileExtension (path : String) : String := Text.lower (Path.ofString path).suffix

/-- The plugin for a file, by its extension, and the records left in looking for it. -/
def pluginFor (r : Registry) (path : String) : Option Plugin × List Log.Record :=
  let ext := fileExtension path
  let language := (r.extensions.find? ext).getD ""
  if language.isEmpty then
    (none, [{ severity := .debug, logger := logger,
              message := s!"No plugin found for file extension '{ext}' (file: {path})" }])
  else (r.plugin? language, [])

/-- The languages in the order in which they came. -/
def languages (r : Registry) : List String := r.plugins.keys

/-- The extensions in the order in which they came. -/
def fileExtensions (r : Registry) : List String := r.extensions.keys

/-! ## Configurations -/

/-- A reader of YAML: the value of a text, which may be any value, or nothing if the text is no YAML. -/
abbrev Reader := String → Option Value

/-- Why a configuration cannot be loaded. -/
inductive ConfigError where
  | notFound (path : String)
  | missingField (name path : String)
  | notYaml
  | unreadable (e : FileError)
  | undecodable (e : Text.Utf8.DecodeError)
  | misused (m : Mistake)

/-- The words for it. -/
def ConfigError.message : ConfigError → String
  | .notFound path => s!"Plugin configuration not found: {path}"
  | .missingField name path => s!"Missing required field '{name}' in {path}"
  | .notYaml => "<yaml error>"
  | .unreadable e => e.message
  | .undecodable e => e.message
  | .misused m => m.message

/-- A directory whose configuration fails like this is passed over. -/
def ConfigError.isPassable : ConfigError → Bool
  | .missingField _ _ => true
  | .notYaml => true
  | .undecodable _ => true
  | _ => false

/-- The file that holds the configuration of a directory. -/
def configPath (dir : Path) : Path := dir.child "config.yaml"

/-- The text of a file that is read piece by piece: a character cut off by the end is told by its
    place among the bytes that were left. -/
def decodePieces (bytes : List UInt8) : Except Text.Utf8.DecodeError (List Char) :=
  match Text.Utf8.decode bytes with
  | .ok cs => .ok (Text.plainLineEnds cs)
  | .error e => .error (if e.fault == .unexpectedEnd then { e with start := 0 } else e)

/-- The fields that every configuration needs. -/
def requiredFields : List String := ["name", "version", "file_extensions"]

/-- Looks for the fields in turn. -/
def requireFields (config : Value) (path : String) : List String → Except ConfigError Unit
  | [] => .ok ()
  | name :: rest =>
    match config.mentions name with
    | .ok true => requireFields config path rest
    | .ok false => .error (.missingField name path)
    | .error m => .error (.misused m)

/-- What a look at the files gives, or the error that they cannot be read. -/
def orUnreadable {α : Type} : Except FileError α → Except ConfigError α
  | .ok a => .ok a
  | .error e => .error (.unreadable e)

/-- The value of a configuration file; one that says nothing is an empty map. -/
def readConfig (yaml : Reader) (files : FileStore) (path : Path) : Except ConfigError Value := do
  if !(← orUnreadable (files.holds path)) then .error (.notFound path.text)
  let bytes ← orUnreadable (files.read path)
  let cs ← match decodePieces bytes with
    | .ok cs => pure cs
    | .error e => .error (.undecodable e)
  match yaml (String.ofList cs) with
  | none => .error .notYaml
  | some v => return if v.isFalsy then .map [] else v

/-- Loads the configuration of a directory, unless it was loaded before. -/
def loadConfig (yaml : Reader) (files : FileStore) (dir : Path) : Action Registry ConfigError Value := do
  let path := configPath dir
  match (← Action.state).configs.find? path.text with
  | some config => return config
  | none =>
    match readConfig yaml files path with
    | .error .notYaml =>
      Action.note .error logger
        s!"Failed to parse plugin configuration {path.text}: {ConfigError.notYaml.message}"
      Action.ofExcept (.error .notYaml)
    | .error e => Action.ofExcept (.error e)
    | .ok config =>
      Action.ofExcept (requireFields config path.text requiredFields)
      Action.change fun r => { r with configs := r.configs.set path.text config }
      Action.note .info logger s!"Loaded plugin configuration from {path.text}"
      return config

/-- A field of a configuration. -/
def configField (config : Value) (name : String) : Action Registry ConfigError Value :=
  Action.ofExcept (match config.lookup name with
    | .ok v => .ok v
    | .error m => .error (.misused m))

/-- Loads the configuration of what lies in a directory of plugins, if that is a directory and has one. -/
def visit (yaml : Reader) (files : FileStore) (sub : Path) :
    Action Registry ConfigError (Option Value) := do
  if !(← Action.ofExcept (orUnreadable (files.isDirectory sub))) then return none
  else if !(← Action.ofExcept (orUnreadable (files.holds (configPath sub)))) then
    Action.note .debug logger s!"Skipping {sub.name}: no config.yaml found"
    return none
  else
    match ← Action.attempt (loadConfig yaml files sub) with
    | .error e =>
      if e.isPassable then
        Action.note .error logger s!"Failed to load plugin from {sub.text}: {e.message}"
        return none
      else Action.ofExcept (.error e)
    | .ok config =>
      let title ← configField config "name"
      let version ← configField config "version"
      Action.note .info logger
        s!"Found plugin configuration: {title.display} v{version.display}"
      return some config

/-- Loads the configurations of the named directories in `dir`. -/
def discoverIn (yaml : Reader) (files : FileStore) (dir : Path) :
    List String → Action Registry ConfigError (List Value)
  | [] => return []
  | name :: rest => do
    let found ← visit yaml files (dir.child name)
    let others ← discoverIn yaml files dir rest
    return found.toList ++ others

/-- Loads the configurations of all directories in `dir` that have one. -/
def discover (yaml : Reader) (files : FileStore) (dir : Path) :
    Action Registry ConfigError (List Value) := do
  if ← Action.ofExcept (orUnreadable (files.holds dir)) then
    let names ← Action.ofExcept (orUnreadable (files.names dir))
    discoverIn yaml files dir names
  else
    Action.note .warning logger s!"Plugins directory not found: {dir.text}"
    return []

/-- Work that can only misuse a value, among work on configurations. -/
def misusing {α : Type} (work : Action Registry Mistake α) : Action Registry ConfigError α := do
  match ← Action.attempt work with
  | .ok a => return a
  | .error m => Action.ofExcept (.error (.misused m))

/-- Takes a plugin that was made, with the records left. -/
def taken (made : Plugin.Made) : Action Registry ConfigError Plugin := do
  Action.leave made.2
  misusing (Action.ofExcept made.1)

/-- Registers a plugin for each of the configurations that there is a plugin for, which `make` makes. -/
def registerAll (make : Value → Plugin.Made) : List Value → Action Registry ConfigError Unit
  | [] => return ()
  | config :: rest => do
    let title ← configField config "name"
    let key ← misusing (Action.ofExcept title.asKey)
    if key.text? == some "lua" then
      let plugin ← taken (make config)
      misusing (register plugin)
    else
      Action.note .warning logger s!"No plugin implementation for configuration '{key.display}'"
    registerAll make rest

/-- Fills an empty registry with the plugins that a directory configures. -/
def populate (yaml : Reader) (make : Value → Plugin.Made) (files : FileStore) (dir : Path) :
    Action Registry ConfigError Unit := do
  let configs ← discover yaml files dir
  registerAll make configs

/-- The Lua plugin with the configuration given, or with that of the installation, which is loaded for it. -/
def luaPlugin (yaml : Reader) (make : Value → Plugin.Made) (files : FileStore) (root : String)
    (config : Option Value) : Action Registry ConfigError Plugin := do
  match config with
  | some config => taken (make config)
  | none =>
    let (loaded, _, records) := (loadConfig yaml files (Plugin.bundledLuaDirectory root)).run {}
    Action.leave records
    let config ← Action.ofExcept loaded
    taken (make config)

end Registry

end Flowchart
