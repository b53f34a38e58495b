import LogSql.App
import LogSql.Auth.Base64
import LogSql.Auth.Service
import LogSql.Auth.Sha256
import LogSql.Certificate.Authority
import LogSql.Certificate.Basic
import LogSql.Certificate.Key
import LogSql.Certificate.Pem
import LogSql.Certificate.Tls
import LogSql.Command.Basic
import LogSql.Command.Flag
import LogSql.Command.Help
import LogSql.Compile.Draft
import LogSql.Compile.Engine
import LogSql.Compile.Error
import LogSql.Compile.Filter
import LogSql.Compile.Matrix
import LogSql.Compile.Names
import LogSql.Compile.Registry
import LogSql.Compile.Stage
import LogSql.Config.Basic
import LogSql.Config.Check
import LogSql.Config.Document
import LogSql.Config.File
import LogSql.Files.Folder
import LogSql.Files.Path
import LogSql.Host
import LogSql.Host.Machine
import LogSql.Http.Client
import LogSql.Http.Form
import LogSql.Http.Guard
import LogSql.Http.Health
import LogSql.Http.Message
import LogSql.Http.Params
import LogSql.Http.Redirect
import LogSql.Http.Server
import LogSql.Json.Fields
import LogSql.Json.Reader
import LogSql.Json.Value
import LogSql.Json.Writer
import LogSql.Labels
import LogSql.Macro.Basic
import LogSql.Macro.Definition
import LogSql.Macro.Registry
import LogSql.Main
import LogSql.Metrics.Basic
import LogSql.Metrics.Exposition
import LogSql.Metrics.Server
import LogSql.Net.Address
import LogSql.Net.Ip
import LogSql.Number.Binary64
import LogSql.Number.Decimal
import LogSql.Number.Int64
import LogSql.Number.Read
import LogSql.Number.Size
import LogSql.Pattern.GeneralCategory
import LogSql.Pattern.Program
import LogSql.Pattern.Reader
import LogSql.Pattern.Regex
import LogSql.Pattern.Script
import LogSql.Program.Client
import LogSql.Program.Report
import LogSql.Program.Run
import LogSql.Program.Server
import LogSql.Proofs.Auth.Tokens
import LogSql.Proofs.Compile.Aliases
import LogSql.Proofs.Compile.Alignment
import LogSql.Proofs.Compile.Binding
import LogSql.Proofs.Compile.Buckets
import LogSql.Proofs.Compile.Built
import LogSql.Proofs.Compile.Chain
import LogSql.Proofs.Compile.Cited
import LogSql.Proofs.Compile.CitedLayers
import LogSql.Proofs.Compile.Columns
import LogSql.Proofs.Compile.DocumentLabels
import LogSql.Proofs.Compile.Expansion
import LogSql.Proofs.Compile.Extraction
import LogSql.Proofs.Compile.Families
import LogSql.Proofs.Compile.FilterAcceptance
import LogSql.Proofs.Compile.FilterValues
import LogSql.Proofs.Compile.Filters
import LogSql.Proofs.Compile.Handoff
import LogSql.Proofs.Compile.Hooks
import LogSql.Proofs.Compile.Injection
import LogSql.Proofs.Compile.LabelPrecedence
import LogSql.Proofs.Compile.Layers
import LogSql.Proofs.Compile.LineFormats
import LogSql.Proofs.Compile.Names
import LogSql.Proofs.Compile.PathValues
import LogSql.Proofs.Compile.Paths
import LogSql.Proofs.Compile.Rankings
import LogSql.Proofs.Compile.Recognition
import LogSql.Proofs.Compile.Refusals
import LogSql.Proofs.Compile.Removal
import LogSql.Proofs.Compile.Rows
import LogSql.Proofs.Compile.Series
import LogSql.Proofs.Compile.Stacks
import LogSql.Proofs.Compile.Statements
import LogSql.Proofs.Compile.Tail
import LogSql.Proofs.Compile.Uses
import LogSql.Proofs.Compile.Variation
import LogSql.Proofs.Compile.Window
import LogSql.Proofs.Http.Range
import LogSql.Proofs.Http.Readiness
import LogSql.Proofs.Json.Documents
import LogSql.Proofs.Macro.Chaining
import LogSql.Proofs.Macro.Definition
import LogSql.Proofs.Macro.Dispatch
import LogSql.Proofs.Macro.Extension
import LogSql.Proofs.Macro.Quoting
import LogSql.Proofs.Macro.Reload
import LogSql.Proofs.Macro.States
import LogSql.Proofs.Number.Rounding
import LogSql.Proofs.Number.Spelling
import LogSql.Proofs.Pattern.Anchored
import LogSql.Proofs.Pattern.Classes
import LogSql.Proofs.Pattern.Closing
import LogSql.Proofs.Pattern.Groups
import LogSql.Proofs.Pattern.Steps
import LogSql.Proofs.Program.Client
import LogSql.Proofs.Query.Calls
import LogSql.Proofs.Query.Derivation
import LogSql.Proofs.Query.Form
import LogSql.Proofs.Query.Grammar
import LogSql.Proofs.Query.Lookup
import LogSql.Proofs.Query.Masks
import LogSql.Proofs.Query.Nesting
import LogSql.Proofs.Query.Numerals
import LogSql.Proofs.Query.Positions
import LogSql.Proofs.Query.Quoting
import LogSql.Proofs.Query.Reading
import LogSql.Proofs.Query.Schema
import LogSql.Proofs.Query.Search
import LogSql.Proofs.Query.Spelling
import LogSql.Proofs.Query.Unique
import LogSql.Proofs.Sql.Clauses
import LogSql.Proofs.Sql.Conditions
import LogSql.Proofs.Sql.Identifiers
import LogSql.Proofs.Sql.Literals
import LogSql.Proofs.Sql.Logic
import LogSql.Proofs.Sql.Lookups
import LogSql.Proofs.Sql.Parts
import LogSql.Proofs.Sql.Pieces
import LogSql.Proofs.Sql.Words
import LogSql.Proofs.Tables
import LogSql.Proofs.Tables.Routing
import LogSql.Proofs.Template.Fields
import LogSql.Proofs.Template.Leading
import LogSql.Proofs.Template.Printed
import LogSql.Proofs.Template.Quoted
import LogSql.Proofs.Text.Encoding
import LogSql.Proofs.Text.Fields
import LogSql.Proofs.Text.Quoting
import LogSql.Proofs.Text.Strings
import LogSql.Proofs.Time.Moments
import LogSql.Query.Lexer
import LogSql.Query.Node
import LogSql.Query.Parser
import LogSql.Query.Token
import LogSql.Release
import LogSql.Row.Basic
import LogSql.Row.Formatter
import LogSql.Row.Hook
import LogSql.Row.LineTemplate
import LogSql.Row.Logfmt
import LogSql.Row.Predicate
import LogSql.Rule.Basic
import LogSql.Rule.Check
import LogSql.Rule.Eval
import LogSql.Rule.Parser
import LogSql.Sql.Clause
import LogSql.Sql.Expr
import LogSql.Sql.Literal
import LogSql.Sql.Render
import LogSql.Storage.Basic
import LogSql.Storage.Script
import LogSql.Tables
import LogSql.Template.Format
import LogSql.Template.Function
import LogSql.Template.Parser
import LogSql.Template.Run
import LogSql.Template.Token
import LogSql.Template.Tree
import LogSql.Template.Value
import LogSql.Text.Basic
import LogSql.Text.Case
import LogSql.Text.Category
import LogSql.Text.Columns
import LogSql.Text.Glyph
import LogSql.Text.Quoted
import LogSql.Time.Duration
import LogSql.Time.Instant
import LogSql.Time.Moment
import LogSql.Yaml.Decode
import LogSql.Yaml.Layout
import LogSql.Yaml.Node
