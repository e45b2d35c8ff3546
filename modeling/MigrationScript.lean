import MigrationScript.FileSystem.Tree
import MigrationScript.Main
import MigrationScript.Proofs.Run.Ledger
import MigrationScript.Proofs.Run.History
import MigrationScript.Proofs.Json.Record
import MigrationScript.Proofs.Version
import MigrationScript.Proofs.FileSystem
import MigrationScript.Proofs.StateFile
import MigrationScript.Proofs.Run.Gate
import MigrationScript.Proofs.Run.Reopening
import MigrationScript.Proofs.Source.Line
import MigrationScript.Proofs.Source.Grouping
import MigrationScript.Proofs.Run.Delivery
import MigrationScript.Proofs.Source.Conservation
import MigrationScript.Proofs.Run.Progress
import MigrationScript.Proofs.Keyword
import MigrationScript.Proofs.Lexeme
import MigrationScript.Proofs.Run.Application
import MigrationScript.Proofs.Source.PlainSql
import MigrationScript.Proofs.Console
import MigrationScript.Proofs.Run.PlainSql
import MigrationScript.Proofs.Source.Acceptance
import MigrationScript.Proofs.Source.Concatenation
import MigrationScript.Proofs.Run.Agreement
import MigrationScript.Proofs.Reloading
import MigrationScript.Proofs.Source.Control
import MigrationScript.Proofs.Run.Control
import MigrationScript.Proofs.Command
import MigrationScript.Proofs.Run.Creation
import MigrationScript.Proofs.Source.Passages
import MigrationScript.Proofs.Source.Block
import MigrationScript.Proofs.Run.Negation
import MigrationScript.Proofs.Literal
import MigrationScript.Proofs.Run.Declaration
import MigrationScript.Proofs.Source.OneLineGuard
import MigrationScript.Proofs.Source.Spacing
import MigrationScript.Proofs.Verbatim
import MigrationScript.Proofs.Verbatim.Literals
import MigrationScript.Proofs.Run.DataBlock
import MigrationScript.Proofs.Console.Count
import MigrationScript.Proofs.Console.AddField
import MigrationScript.Proofs.Run.Lookup
import MigrationScript.Proofs.Config
import MigrationScript.Proofs.Lexeme.Span
import MigrationScript.Proofs.Source.Cursor
import MigrationScript.Proofs.Source.Shape
