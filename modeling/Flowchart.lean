import Flowchart.Assoc
import Flowchart.Ast.Basic
import Flowchart.Ast.Label
import Flowchart.Ast.Lowering
import Flowchart.Ast.Schema
import Flowchart.CommandLine.Arguments
import Flowchart.CommandLine.Help
import Flowchart.CommandLine.Run
import Flowchart.Decimal
import Flowchart.Decimal.Rounded
import Flowchart.Diagram.Basic
import Flowchart.Diagram.Builder
import Flowchart.Diagram.Markup
import Flowchart.Diagram.Schema
import Flowchart.Failure
import Flowchart.FileStore
import Flowchart.Log.Action
import Flowchart.Log.Cause
import Flowchart.Log.Logger
import Flowchart.Log.Record
import Flowchart.Log.Template
import Flowchart.Lua.Cursor
import Flowchart.Lua.Grammar
import Flowchart.Lua.Lexeme
import Flowchart.Main
import Flowchart.Path
import Flowchart.Plugin.Basic
import Flowchart.Plugin.Lua
import Flowchart.Plugin.Registry
import Flowchart.Schema
import Flowchart.Service
import Flowchart.Settings.Basic
import Flowchart.Settings.DotEnv
import Flowchart.Syntax.Node
import Flowchart.Syntax.ParseTree
import Flowchart.Text.Blank
import Flowchart.Text.Case
import Flowchart.Text.CaseTable
import Flowchart.Text.Digit
import Flowchart.Text.Lines
import Flowchart.Text.Printable
import Flowchart.Text.Quoted
import Flowchart.Text.Utf8
import Flowchart.Text.Wrap
import Flowchart.Value
import Flowchart.Value.Json
import Flowchart.Value.Mistake
import Flowchart.Yaml.Document
import Flowchart.Yaml.Scalar
import Flowchart.Proofs.Forest
import Flowchart.Proofs.Outline
import Flowchart.Proofs.Walk
import Flowchart.Proofs.History
import Flowchart.Proofs.Chunks
import Flowchart.Proofs.BranchNames
import Flowchart.Proofs.Contraction
import Flowchart.Proofs.MarkupLines
import Flowchart.Proofs.MarkupDecoding
import Flowchart.Proofs.StatementLists
import Flowchart.Proofs.Counting
import Flowchart.Proofs.Encoding
import Flowchart.Proofs.RoundTrip
import Flowchart.Proofs.Defects
import Flowchart.Proofs.MissingChildren
import Flowchart.Proofs.Registrations
import Flowchart.Proofs.Configurations
import Flowchart.Proofs.Discovery
import Flowchart.Proofs.Places
import Flowchart.Proofs.Writing
import Flowchart.Proofs.Repairs
import Flowchart.Proofs.BlockEntry
import Flowchart.Proofs.FailedRegistrations
import Flowchart.Proofs.FirstMark
import Flowchart.Proofs.ByteSlices
import Flowchart.Proofs.Conversion
import Flowchart.Proofs.Gist
import Flowchart.Proofs.Grouping
import Flowchart.Proofs.FieldNames
import Flowchart.Proofs.KindNames
import Flowchart.Proofs.LogScopes
import Flowchart.Proofs.Options
import Flowchart.Proofs.Installation
import Flowchart.Proofs.Endings
