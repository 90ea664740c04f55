import SitePreview.Basic
import SitePreview.Cache
import SitePreview.Command.Options
import SitePreview.Command.Request
import SitePreview.Command.Run
import SitePreview.Console.Arguments
import SitePreview.Console.Block
import SitePreview.Console.ColumnTable
import SitePreview.Console.Columns
import SitePreview.Console.Markup
import SitePreview.Console.Table
import SitePreview.Console.Token
import SitePreview.Console.Wrap
import SitePreview.Database.Address
import SitePreview.Database.Connection
import SitePreview.Database.Engine
import SitePreview.Database.File
import SitePreview.Database.Store
import SitePreview.Decimal.Scientific
import SitePreview.Document.OptionsInput
import SitePreview.Document.Render
import SitePreview.Log.Message
import SitePreview.Log.Record
import SitePreview.Log.Setup
import SitePreview.Main
import SitePreview.Project.Actor
import SitePreview.Project.Edit
import SitePreview.Project.Operation
import SitePreview.Project.Record
import SitePreview.Project.Registry
import SitePreview.Project.Template
import SitePreview.Report.Blocks
import SitePreview.Report.Input
import SitePreview.Response.Parser
import SitePreview.Seconds
import SitePreview.Settings.Load
import SitePreview.Snapshot.SyncRequest
import SitePreview.Text.Number
import SitePreview.Timing
import SitePreview.Trail.History
import SitePreview.Trail.SyncResult
import SitePreview.Trail.VersionRecord
import SitePreview.Tree.Basic
import SitePreview.Tree.Load
import SitePreview.Tree.Workspace
import SitePreview.Proofs.Json.QuotedText
import SitePreview.Proofs.FileSet.Lookup
import SitePreview.Proofs.Snapshot.CanonicalForm
import SitePreview.Proofs.Source.LineStarts
import SitePreview.Proofs.Source.BlankLines
import SitePreview.Proofs.Source.BlankRuns
import SitePreview.Proofs.Source.Settled
import SitePreview.Proofs.Source.Elimination
import SitePreview.Proofs.Project.Effects
import SitePreview.Proofs.Project.Session
import SitePreview.Proofs.Trail.Exactness
import SitePreview.Proofs.Project.Addressing
import SitePreview.Proofs.Project.Integrity
import SitePreview.Proofs.Project.Course
import SitePreview.Proofs.Project.Interleaving
import SitePreview.Proofs.Project.Commits
import SitePreview.Proofs.Project.Frames
import SitePreview.Proofs.Project.Restart
import SitePreview.Proofs.Project.Outage
import SitePreview.Proofs.Project.Failures
import SitePreview.Proofs.Project.Summaries
import SitePreview.Proofs.Project.Endings
import SitePreview.Proofs.Project.Serving
import SitePreview.Proofs.Project.Standing
import SitePreview.Proofs.Project.Coherence
import SitePreview.Proofs.Project.Isolation
import SitePreview.Proofs.Project.Handover
import SitePreview.Proofs.Project.Landing
import SitePreview.Proofs.Project.Continuity
import SitePreview.Proofs.Project.Mailbox
import SitePreview.Proofs.Document.Inlining
import SitePreview.Proofs.Response.Writing
import SitePreview.Proofs.Response.Extracted
import SitePreview.Proofs.Response.Unannounced
import SitePreview.Proofs.Command.Extraction
import SitePreview.Proofs.Report.Listings
import SitePreview.Proofs.Document.InsertionOrder
import SitePreview.Proofs.Snapshot.Patch
import SitePreview.Proofs.Cache.Answers
import SitePreview.Proofs.Project.Gate
import SitePreview.Proofs.Project.Batches
import SitePreview.Proofs.Trail.Pages
import SitePreview.Proofs.Trail.Numbers
import SitePreview.Proofs.Trail.Unrecorded
import SitePreview.Proofs.Source.MountRemoval
import SitePreview.Proofs.Source.Rounds
import SitePreview.Proofs.Source.Declarations
import SitePreview.Proofs.Markup.LocalReferences
import SitePreview.Proofs.Document.Bundle
import SitePreview.Proofs.Document.DocumentType
import SitePreview.Proofs.Document.OptionValues
import SitePreview.Proofs.Analysis.ComponentNames
import SitePreview.Proofs.Timing.Windows
import SitePreview.Proofs.Tree.Loading
import SitePreview.Proofs.Log.Lines
