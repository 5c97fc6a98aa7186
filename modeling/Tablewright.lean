import Tablewright.Chunks
import Tablewright.ColumnType
import Tablewright.CommandLine.Invocation
import Tablewright.CommandLine.Options
import Tablewright.CommandLine.Tasks
import Tablewright.Dialect
import Tablewright.Fault
import Tablewright.Generate.Code
import Tablewright.Generate.Emit
import Tablewright.Generate.Generation
import Tablewright.Generate.Unit
import Tablewright.Main
import Tablewright.Memory.Connection
import Tablewright.Memory.Fault
import Tablewright.Memory.Script
import Tablewright.Memory.Statement
import Tablewright.Memory.Store
import Tablewright.Memory.Table
import Tablewright.Model.Basic
import Tablewright.Model.Diagnostic
import Tablewright.Model.Discovery
import Tablewright.Model.Meaning
import Tablewright.Model.SourceSet
import Tablewright.Number.Binary
import Tablewright.Number.Decimal
import Tablewright.Number.FloatText
import Tablewright.Number.Power
import Tablewright.Number.Reading
import Tablewright.Number.Shortest
import Tablewright.Parameter
import Tablewright.Path
import Tablewright.Postgres.Cell
import Tablewright.Postgres.Connection
import Tablewright.Postgres.Copy
import Tablewright.Postgres.CopyReading
import Tablewright.Postgres.Message
import Tablewright.Postgres.ServerType
import Tablewright.Profile.Constant
import Tablewright.Profile.Reading
import Tablewright.Profile.Resolved
import Tablewright.Profile.Settings
import Tablewright.Profile.Validation
import Tablewright.Project.BuildScript
import Tablewright.Project.FileTree
import Tablewright.Project.Run
import Tablewright.Project.Sources
import Tablewright.Proofs.AcceptedCalls
import Tablewright.Proofs.ApplyParts
import Tablewright.Proofs.ApplyQuery
import Tablewright.Proofs.ApplyRuns
import Tablewright.Proofs.ApplyScript
import Tablewright.Proofs.ApplyTexts
import Tablewright.Proofs.AssignedIdentities
import Tablewright.Proofs.AssignedValues
import Tablewright.Proofs.BatchStatements
import Tablewright.Proofs.BulkLoad
import Tablewright.Proofs.BulkLoadFields
import Tablewright.Proofs.CachedValues
import Tablewright.Proofs.ChainSettings
import Tablewright.Proofs.ColumnLists
import Tablewright.Proofs.ColumnNames
import Tablewright.Proofs.CompleteRuns
import Tablewright.Proofs.ConflictTargets
import Tablewright.Proofs.ConnectionCalls
import Tablewright.Proofs.Cutting
import Tablewright.Proofs.DiscoveredModels
import Tablewright.Proofs.EntityStatements
import Tablewright.Proofs.FoldedConstants
import Tablewright.Proofs.GeneratedNames
import Tablewright.Proofs.GeneratedTables
import Tablewright.Proofs.IdentifierCase
import Tablewright.Proofs.ImplementationOrder
import Tablewright.Proofs.KeyValues
import Tablewright.Proofs.KeyedRecords
import Tablewright.Proofs.KeyedStatements
import Tablewright.Proofs.KeyedTables
import Tablewright.Proofs.MemoryRecords
import Tablewright.Proofs.MethodCalls
import Tablewright.Proofs.Namesakes
import Tablewright.Proofs.OneByOne
import Tablewright.Proofs.ParameterNames
import Tablewright.Proofs.PieceByPiece
import Tablewright.Proofs.Placeholders
import Tablewright.Proofs.PlainNames
import Tablewright.Proofs.ProfileDialects
import Tablewright.Proofs.QueryStatements
import Tablewright.Proofs.ReadableStatements
import Tablewright.Proofs.RecordLists
import Tablewright.Proofs.RecordRuns
import Tablewright.Proofs.Records
import Tablewright.Proofs.RootedPaths
import Tablewright.Proofs.RowOperations
import Tablewright.Proofs.RowStatements
import Tablewright.Proofs.Runs
import Tablewright.Proofs.ScalarReading
import Tablewright.Proofs.ScriptPieces
import Tablewright.Proofs.SeparateDialects
import Tablewright.Proofs.SingleChanges
import Tablewright.Proofs.SortedDiagnostics
import Tablewright.Proofs.StableSorting
import Tablewright.Proofs.StagedChanges
import Tablewright.Proofs.StagedReading
import Tablewright.Proofs.StagingTables
import Tablewright.Proofs.StatementFragments
import Tablewright.Proofs.StatementLimits
import Tablewright.Proofs.StatementNames
import Tablewright.Proofs.StatementPlaceholders
import Tablewright.Proofs.StatementText
import Tablewright.Proofs.SyncOutcomes
import Tablewright.Proofs.SyncPlans
import Tablewright.Proofs.Synchronization
import Tablewright.Proofs.TracedCalls
import Tablewright.Proofs.UpsertStatements
import Tablewright.Proofs.ValidNames
import Tablewright.Proofs.ValidatedColumns
import Tablewright.Proofs.WellConfigured
import Tablewright.Proofs.WordsOfNames
import Tablewright.Row
import Tablewright.Sample.Customer
import Tablewright.Sample.Order
import Tablewright.Sample.Reading
import Tablewright.Source.AttributeRules
import Tablewright.Source.BoundRules
import Tablewright.Source.Chain
import Tablewright.Source.Comment
import Tablewright.Source.Expr
import Tablewright.Source.ExprRules
import Tablewright.Source.File
import Tablewright.Source.Grammar
import Tablewright.Source.Item
import Tablewright.Source.ItemRules
import Tablewright.Source.Lexer
import Tablewright.Source.LiteralToken
import Tablewright.Source.LiteralValue
import Tablewright.Source.OperatorRules
import Tablewright.Source.Parser
import Tablewright.Source.PathRules
import Tablewright.Source.PatternRules
import Tablewright.Source.Position
import Tablewright.Source.SignatureRules
import Tablewright.Source.StatementRules
import Tablewright.Source.Token
import Tablewright.Source.TypeExpr
import Tablewright.Source.TypeRules
import Tablewright.Sql.Fragment
import Tablewright.Sql.QuotedName
import Tablewright.Sql.Values
import Tablewright.Store.Batch
import Tablewright.Store.Command
import Tablewright.Store.Connection
import Tablewright.Store.Entity
import Tablewright.Store.Sync
import Tablewright.Store.TableEntity
import Tablewright.Table.Basic
import Tablewright.Table.Staging
import Tablewright.Table.Statements
import Tablewright.Table.Texts
import Tablewright.Text.Ascii
import Tablewright.Text.Blank
import Tablewright.Text.Case
import Tablewright.Text.Duration
import Tablewright.Text.Hex
import Tablewright.Text.Identifier
import Tablewright.Text.Letter
import Tablewright.Text.Numeral
import Tablewright.Text.Plural
import Tablewright.Text.Quoted
import Tablewright.Text.Ranges
import Tablewright.Text.Split
import Tablewright.Text.Visible
import Tablewright.Text.Words
import Tablewright.Value.Basic
import Tablewright.Value.Calendar
import Tablewright.Value.CalendarText
import Tablewright.Value.Scalar
import Tablewright.Value.Uuid
