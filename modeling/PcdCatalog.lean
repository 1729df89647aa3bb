import PcdCatalog.Cells
import PcdCatalog.Change
import PcdCatalog.CommandLine
import PcdCatalog.Config
import PcdCatalog.Config.Storage
import PcdCatalog.Config.Text
import PcdCatalog.Data
import PcdCatalog.Data.Json
import PcdCatalog.Data.Toml
import PcdCatalog.Declaration
import PcdCatalog.Disk
import PcdCatalog.Ignore.Glob
import PcdCatalog.Ignore.Rule
import PcdCatalog.Index
import PcdCatalog.Lock
import PcdCatalog.Log
import PcdCatalog.Main
import PcdCatalog.Narration
import PcdCatalog.Overlap
import PcdCatalog.Path
import PcdCatalog.Pattern.Matching
import PcdCatalog.Pattern.Parser
import PcdCatalog.Pattern.Syntax
import PcdCatalog.Program
import PcdCatalog.Proofs.Accounting
import PcdCatalog.Proofs.ActionTrace
import PcdCatalog.Proofs.Activity
import PcdCatalog.Proofs.Answerable
import PcdCatalog.Proofs.BatchEffect
import PcdCatalog.Proofs.BuildOrder
import PcdCatalog.Proofs.Building
import PcdCatalog.Proofs.ChangeTraffic
import PcdCatalog.Proofs.Coalescing
import PcdCatalog.Proofs.Completion
import PcdCatalog.Proofs.Confinement
import PcdCatalog.Proofs.DeclarationGrammar
import PcdCatalog.Proofs.DeclarationScan
import PcdCatalog.Proofs.DepthFirst
import PcdCatalog.Proofs.DiskLaws
import PcdCatalog.Proofs.FailedSave
import PcdCatalog.Proofs.FileMatching
import PcdCatalog.Proofs.HandoverLog
import PcdCatalog.Proofs.Hiding
import PcdCatalog.Proofs.IgnoreRules
import PcdCatalog.Proofs.Independence
import PcdCatalog.Proofs.IndexLaws
import PcdCatalog.Proofs.IndexReport
import PcdCatalog.Proofs.Interleaving
import PcdCatalog.Proofs.LateMerge
import PcdCatalog.Proofs.LineLaws
import PcdCatalog.Proofs.LineTableLaws
import PcdCatalog.Proofs.Linearisation
import PcdCatalog.Proofs.Listing
import PcdCatalog.Proofs.LockFamily
import PcdCatalog.Proofs.LockLaws
import PcdCatalog.Proofs.MadeDirectories
import PcdCatalog.Proofs.MatchOrder
import PcdCatalog.Proofs.MergeOrder
import PcdCatalog.Proofs.NameAgreement
import PcdCatalog.Proofs.NameLookup
import PcdCatalog.Proofs.NetChanges
import PcdCatalog.Proofs.PathLaws
import PcdCatalog.Proofs.PatternLaws
import PcdCatalog.Proofs.PatternReading
import PcdCatalog.Proofs.PositionOrder
import PcdCatalog.Proofs.Positions
import PcdCatalog.Proofs.Redeclaration
import PcdCatalog.Proofs.RemovalDuringBuild
import PcdCatalog.Proofs.Respelling
import PcdCatalog.Proofs.SavedConfig
import PcdCatalog.Proofs.SourceLaws
import PcdCatalog.Proofs.SpanOrder
import PcdCatalog.Proofs.Spelling
import PcdCatalog.Proofs.TableLaws
import PcdCatalog.Proofs.TextLaws
import PcdCatalog.Proofs.TomlDocument
import PcdCatalog.Proofs.TomlText
import PcdCatalog.Proofs.TomlValue
import PcdCatalog.Proofs.Traffic
import PcdCatalog.Proofs.Upkeep
import PcdCatalog.Proofs.Views
import PcdCatalog.Proofs.WordAtCursor
import PcdCatalog.Query
import PcdCatalog.Run
import PcdCatalog.Selection
import PcdCatalog.Server
import PcdCatalog.Server.Protocol
import PcdCatalog.Source
import PcdCatalog.Table
import PcdCatalog.Text.Case
import PcdCatalog.Text.CharSet
import PcdCatalog.Text.Date
import PcdCatalog.Text.LineTable
import PcdCatalog.Text.Number
import PcdCatalog.Text.Position
import PcdCatalog.Text.Quoted
import PcdCatalog.Text.Units
import PcdCatalog.Text.Word
import PcdCatalog.Text.WordScan
import PcdCatalog.Unicode.CaseFold
import PcdCatalog.Unicode.Category
import PcdCatalog.Unicode.Class
import PcdCatalog.Unicode.Property
import PcdCatalog.Unicode.Script
import PcdCatalog.Walk
import PcdCatalog.Watch
import PcdCatalog.Wildcard
import PcdCatalog.Workspace
