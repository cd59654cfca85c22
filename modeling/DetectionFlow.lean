import DetectionFlow.Advice
import DetectionFlow.Alarm
import DetectionFlow.Backend
import DetectionFlow.Backend.Answer
import DetectionFlow.Builder
import DetectionFlow.Calendar
import DetectionFlow.Check
import DetectionFlow.CommandLine
import DetectionFlow.CommandLine.Arguments
import DetectionFlow.Compiled
import DetectionFlow.Decimal.Layout
import DetectionFlow.Decimal.Numeral
import DetectionFlow.Decimal.Shortest
import DetectionFlow.Dialog
import DetectionFlow.Dialog.Fields
import DetectionFlow.Dialog.Terminal
import DetectionFlow.Disk
import DetectionFlow.Document
import DetectionFlow.Double
import DetectionFlow.Failure
import DetectionFlow.Files
import DetectionFlow.Graph
import DetectionFlow.Graph.Edit
import DetectionFlow.Identifier
import DetectionFlow.Json.Reader
import DetectionFlow.Json.Writer
import DetectionFlow.Kind
import DetectionFlow.Main
import DetectionFlow.Notice
import DetectionFlow.Payload
import DetectionFlow.Placement
import DetectionFlow.Plan
import DetectionFlow.Proofs.EditTheorems
import DetectionFlow.Proofs.GraphInvariant
import DetectionFlow.Proofs.JsonTextTheorems
import DetectionFlow.Proofs.KeyedLists
import DetectionFlow.Proofs.NotedTheorems
import DetectionFlow.Proofs.PlacementTheorems
import DetectionFlow.Proofs.ReachableGraphs
import DetectionFlow.Proofs.RestoreFailures
import DetectionFlow.Proofs.RestoredTheorems
import DetectionFlow.Proofs.RoundingTheorems
import DetectionFlow.Proofs.ShortestTheorems
import DetectionFlow.Proofs.SiftTheorems
import DetectionFlow.Proofs.SurvivingEdges
import DetectionFlow.Proofs.TextUnitTheorems
import DetectionFlow.Record
import DetectionFlow.Record.Reader
import DetectionFlow.Restored
import DetectionFlow.Schema
import DetectionFlow.Session
import DetectionFlow.Settings
import DetectionFlow.Target
import DetectionFlow.Template
import DetectionFlow.Text.Base64
import DetectionFlow.Text.Blank
import DetectionFlow.Text.Half
import DetectionFlow.Text.Lower
import DetectionFlow.Text.Printable
import DetectionFlow.Text.Quoted
import DetectionFlow.Text.Split
import DetectionFlow.Text.Utf8
import DetectionFlow.Typed
import DetectionFlow.Value
import DetectionFlow.Value.Coerce
import DetectionFlow.Value.Slots
import DetectionFlow.World
import DetectionFlow.Yaml.Contents
import DetectionFlow.Yaml.Cursor
import DetectionFlow.Yaml.Merge
import DetectionFlow.Yaml.Node
import DetectionFlow.Yaml.Reader
import DetectionFlow.Yaml.Scalar
import DetectionFlow.Yaml.ScalarText
import DetectionFlow.Yaml.Tag
import DetectionFlow.Yaml.Token
import DetectionFlow.Yaml.Writer
import DetectionFlow.Proofs.AdviceTheorems
import DetectionFlow.Proofs.AlarmTheorems
import DetectionFlow.Proofs.CheckedGraphs
import DetectionFlow.Proofs.CheckedTheorems
import DetectionFlow.Proofs.ColumnTheorems
import DetectionFlow.Proofs.CompiledStructure
import DetectionFlow.Proofs.DepthPlacement
import DetectionFlow.Proofs.DocumentTheorems
import DetectionFlow.Proofs.FailedEdits
import DetectionFlow.Proofs.RecordAccounting
import DetectionFlow.Proofs.DeclaredPayloads
import DetectionFlow.Proofs.RecordForests
import DetectionFlow.Proofs.SaveReload
import DetectionFlow.Proofs.SettledRecords
import DetectionFlow.Proofs.TypedPayloads
import DetectionFlow.Proofs.RejectedNodes
import DetectionFlow.Proofs.FormedPayloads
import DetectionFlow.Proofs.ArisingGraphs
import DetectionFlow.Proofs.DocumentedGraphs
import DetectionFlow.Proofs.ToldChanges
import DetectionFlow.Proofs.SessionRuns
import DetectionFlow.Proofs.JoinedGraphs
import DetectionFlow.Proofs.RereadRecords
import DetectionFlow.Proofs.SavedForms
import DetectionFlow.Proofs.GreatestNumbers
import DetectionFlow.Proofs.InsertedBatches
import DetectionFlow.Proofs.InsertedTemplates
import DetectionFlow.Proofs.ScannedTexts
import DetectionFlow.Proofs.ShownTexts
import DetectionFlow.Proofs.RewrittenAlarms
import DetectionFlow.Proofs.LoadedGraphs
import DetectionFlow.Proofs.LoadedSettings
import DetectionFlow.Proofs.LoadedSessions
import DetectionFlow.Proofs.ExtendedGraphs
import DetectionFlow.Proofs.PlannedRecords
import DetectionFlow.Proofs.ResolvedTargets
import DetectionFlow.Proofs.LocalEdits
import DetectionFlow.Proofs.DocumentEdges
import DetectionFlow.Proofs.AskedBindings
import DetectionFlow.Proofs.RetypedMeasures
import DetectionFlow.Proofs.ReselectedObjects
import DetectionFlow.Proofs.AnsweredPayloads
import DetectionFlow.Proofs.TypedConditions
import DetectionFlow.Proofs.OfferedClassifiers
