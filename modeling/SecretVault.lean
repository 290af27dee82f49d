import SecretVault.Arguments.Argument
import SecretVault.Arguments.Invocation
import SecretVault.Arguments.Reader
import SecretVault.Command
import SecretVault.Command.Actions
import SecretVault.Command.Failure
import SecretVault.Command.Script
import SecretVault.Config
import SecretVault.Config.Storage
import SecretVault.Engine.Cell
import SecretVault.Engine.Connection
import SecretVault.Engine.Database
import SecretVault.Engine.Error
import SecretVault.Engine.Record
import SecretVault.Engine.Row
import SecretVault.Engine.Search
import SecretVault.Engine.Statement
import SecretVault.Engine.Tables
import SecretVault.Files.Error
import SecretVault.Files.Path
import SecretVault.Files.Tree
import SecretVault.Glob.Match
import SecretVault.Glob.Pattern
import SecretVault.IdMap
import SecretVault.Json.Printer
import SecretVault.Json.Reader
import SecretVault.Labeled
import SecretVault.Locations
import SecretVault.Opening
import SecretVault.Operation
import SecretVault.Program.Launch
import SecretVault.Program.Status
import SecretVault.Program.Supervision
import SecretVault.Program.Watch
import SecretVault.Proofs.Gathering
import SecretVault.Proofs.Glob.Literal
import SecretVault.Proofs.Glob.Language
import SecretVault.Proofs.Glob.Classes
import SecretVault.Proofs.Glob.Matching
import SecretVault.Proofs.History
import SecretVault.Proofs.IdMap
import SecretVault.Proofs.LabelRows
import SecretVault.Proofs.Limits
import SecretVault.Proofs.Performing
import SecretVault.Proofs.Reachable
import SecretVault.Proofs.Search.Index
import SecretVault.Proofs.Search.Listing
import SecretVault.Proofs.Search.Reading
import SecretVault.Proofs.Search.Reference
import SecretVault.Proofs.Search.Selection
import SecretVault.Proofs.Search.Visiting
import SecretVault.Proofs.Search.Completeness
import SecretVault.Proofs.Search.Removing
import SecretVault.Proofs.Search.Patterns
import SecretVault.Proofs.Text.Decimal
import SecretVault.Proofs.Transaction.Harmless
import SecretVault.Proofs.Transaction.Rollback
import SecretVault.Proofs.Vault.Basic
import SecretVault.Proofs.Vault.Invariant
import SecretVault.Proofs.Vault.Refinement
import SecretVault.Proofs.Vault.Represents
import SecretVault.Proofs.Vault.Visibility
import SecretVault.Query.Clause
import SecretVault.Query.Composition
import SecretVault.Session
import SecretVault.Storage
import SecretVault.Shell.Arrange
import SecretVault.Shell.Builtin
import SecretVault.Shell.Evaluation
import SecretVault.Shell.Expansion
import SecretVault.Shell.Filter
import SecretVault.Shell.Line
import SecretVault.Shell.Machine
import SecretVault.Shell.Printf
import SecretVault.Shell.Programs
import SecretVault.Shell.Source
import SecretVault.Shell.Utility
import SecretVault.Shell.Word
import SecretVault.Text.Blank
import SecretVault.Text.Controls
import SecretVault.Text.Decimal
import SecretVault.Text.Glyphless
import SecretVault.Text.Magnitude
import SecretVault.Text.Quoted
import SecretVault.Text.Radix
import SecretVault.Text.Utf8
import SecretVault.Yaml.Block
import SecretVault.Yaml.Gap
import SecretVault.Yaml.Input
import SecretVault.Yaml.Lexer
import SecretVault.Yaml.Node
import SecretVault.Yaml.Number
import SecretVault.Yaml.Plain
import SecretVault.Yaml.Quoted
import SecretVault.Yaml.Scalar
import SecretVault.Yaml.Token
import SecretVault.Main
import SecretVault.Engine.Catalog
import SecretVault.Proofs.Changes
import SecretVault.Proofs.Counting
import SecretVault.Proofs.Failing
import SecretVault.Proofs.Vault.Integrity
import SecretVault.Proofs.Sessions
import SecretVault.Proofs.Vault.Finding
import SecretVault.Proofs.Vault.Crowd
import SecretVault.Proofs.Issuing
import SecretVault.Proofs.Command.Discipline
import SecretVault.Proofs.Files.Vaults
import SecretVault.Proofs.Text.Utf8
import SecretVault.Proofs.Transaction.Commit
import SecretVault.Proofs.Command.AllOrNothing
import SecretVault.Proofs.Command.Succeeding
import SecretVault.Proofs.Command.Showing
import SecretVault.Proofs.Command.Room
import SecretVault.Proofs.Json.Quoted
import SecretVault.Proofs.Json.Decoding
import SecretVault.Proofs.Starting
import SecretVault.Proofs.Command.Listing
import SecretVault.Proofs.Sharing
import SecretVault.Proofs.Command.Initializing
import SecretVault.Proofs.Files.Directories
import SecretVault.Proofs.Reopening
import SecretVault.Proofs.Command.Writing
import SecretVault.Proofs.Command.Refusing
import SecretVault.Proofs.Command.Surviving
import SecretVault.Proofs.Query.Grammar
import SecretVault.Proofs.Query.Composing
import SecretVault.Proofs.Query.Meaning
import SecretVault.Proofs.Command.Lines
import SecretVault.Proofs.Command.Gate
import SecretVault.Proofs.Command.Hooks
import SecretVault.Proofs.Vault.Keeping
import SecretVault.Proofs.Secrecy.Veiling
import SecretVault.Proofs.Secrecy.Operations
import SecretVault.Proofs.Secrecy.Scripts
import SecretVault.Proofs.Secrecy.Commands
import SecretVault.Proofs.Secrecy.Files
import SecretVault.Proofs.Secrecy.Concealing
import SecretVault.Proofs.Yaml.Placing
import SecretVault.Proofs.Yaml.PlainText
import SecretVault.Proofs.Text.Radix
import SecretVault.Proofs.Yaml.Quotes
import SecretVault.Proofs.Yaml.Literal
import SecretVault.Proofs.Yaml.Rounds
import SecretVault.Proofs.Yaml.Scalars
import SecretVault.Proofs.Yaml.Lines
import SecretVault.Proofs.Yaml.Allowed
import SecretVault.Proofs.Config.Lexing
import SecretVault.Proofs.Config.Reading
import SecretVault.Proofs.Config.RoundTrip
import SecretVault.Proofs.Calls.Cancelled
import SecretVault.Proofs.Calls.Tokens
import SecretVault.Proofs.Calls.Texts
import SecretVault.Proofs.Vault.Attaching
import SecretVault.Proofs.Grouping
import SecretVault.Proofs.Command.Copying
import SecretVault.Proofs.Command.Asking
import SecretVault.Proofs.Command.Coming
import SecretVault.Proofs.Command.Nonempty
import SecretVault.Proofs.Program.Watching
import SecretVault.Proofs.Vault.Tracing
import SecretVault.Proofs.Command.Meanwhile
