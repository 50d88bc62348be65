/-
  The plugin for Lua, and the configuration that comes with it.

  The parser is not part of the plugin: any function that gives a raw tree for every text will do, and
  the plugin reads the syntax tree from that.  A tree with an error is reported by its first mark.
-/
import Flowchart.Ast.Lowering
import Flowchart.Plugin.Basic
import Flowchart.Syntax.ParseTree

namespace Flowchart.Plugin

/-- The logger of the plugin. -/
def luaLogger : String := "plugins.lua.plugin"

/-- The logger of the notices about statements. -/
def loweringLogger : String := "plugins.lua.lowering"

/-- A notice as a record; a loop without a clause is worth a warning. -/
def noticeRecord (n : Ast.Notice) : Log.Record :=
  let severity : Log.Severity := match n with
    | .renamed _ _ _ => .debug
    | .noClause _ => .warning
  { severity := severity, logger := loweringLogger, message := n.message }

/-- A parser of Lua: the raw tree of a text. -/
abbrev Grammar := String → ParseTree

/-- Turns Lua source into statements. -/
def parseLua (grammar : Grammar) (l : Ast.Lowering) (path content : String) : ParseOutcome :=
  match ParseTree.read content (grammar content) with
  | .error (.syntaxError line column) =>
    let f := Failure.syntaxError path line column
    (.error (.failed f), [{ severity := .error, logger := luaLogger, message := f.message }])
  | .error (.undecodable e) => (.error (.raised "UnicodeDecodeError" e.message), [])
  | .ok root =>
    let (result, notices) :=
      Ast.guarded l (Ast.visited l root.children) (Ast.lowerStatements l root.children)
    let parsed : Log.Record :=
      { severity := .debug, logger := luaLogger, message := s!"Successfully parsed Lua file: {path}" }
    let outcome := match result with
      | .ok statements => .ok statements
      | .error e => .error (.refused e)
    (outcome, parsed :: notices.map noticeRecord)

/-- The lowering that a configuration asks for. -/
def loweringOf (config : Value) : Except Mistake Ast.Lowering := do
  let kinds ← config.get "statement_kinds"
  let ignored ← config.get "ignored_statements"
  Ast.Lowering.ofValues kinds ignored

/-- The extensions that a configuration gives, if it does. -/
def extensionsOf : Value → Option Value
  | .map entries => entries.lookup "file_extensions"
  | .mixed entries => (Value.textEntries entries).lookup "file_extensions"
  | _ => none

/-- A plugin from a configuration, or the mistake in that, and the records left in making it. -/
abbrev Made := Except Mistake Plugin × List Log.Record

/-- The plugin for Lua with a configuration. -/
def lua (grammar : Grammar) (config : Value) : Made :=
  match loweringOf config with
  | .error m => (.error m, [])
  | .ok lowering =>
    (.ok {
      language := "lua"
      extensions := extensionsOf config
      serial := none
      parse := parseLua grammar lowering },
      [{ severity := .info, logger := luaLogger, message := "Lua plugin initialized successfully" }])

/-! ## The bundled configuration -/

/-- The configuration that comes with the plugin. -/
def bundledConfig : String :=
  "name: lua\n" ++
  "version: \"0.1.0\"\n" ++
  "description: Lua parsing plugin backed by tree-sitter-lua\n" ++
  "file_extensions:\n" ++
  "  - .lua\n" ++
  "\n" ++
  "# Kind names given to statements without a dedicated AST model.\n" ++
  "# Node types missing here are converted to CamelCase (foo_statement -> FooStatement).\n" ++
  "statement_kinds:\n" ++
  "  do_statement: DoStatement\n" ++
  "  break_statement: BreakStatement\n" ++
  "  goto_statement: GotoStatement\n" ++
  "  label_statement: LabelStatement\n" ++
  "\n" ++
  "# Node types dropped while lowering statement lists.\n" ++
  "ignored_statements:\n" ++
  "  - empty_statement\n" ++
  "  - hash_bang_line\n" ++
  "  - comment\n"

/-- The directory of the bundled plugins below the installation's root. -/
def bundledDirectory (root : String) : Path := (Path.ofString root).child "plugins"

/-- The directory of the bundled Lua plugin. -/
def bundledLuaDirectory (root : String) : Path := (bundledDirectory root).child "lua"

/-- The files with those that come with an installation. -/
def install (root : String) (files : FileStore) : FileStore :=
  files.put ((bundledLuaDirectory root).child "config.yaml") (Text.Utf8.encode bundledConfig.toList)

end Flowchart.Plugin
